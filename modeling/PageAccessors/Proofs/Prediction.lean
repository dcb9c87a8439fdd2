import PageAccessors.Proofs.Accounts
import PageAccessors.Proofs.Locations

/-!
# What a check says of a run

A check and a run that do not end early load the same pages (`load_eq`). A check passes if all files
can be loaded and no page breaks a rule (`checkPages_eq_ok_iff`), and a run fails for each file and
each page for which the check does (`failed_le_take`). If there is none, the places that a run has
claimed are those of the pages in front, each for the first page that asked for it
(`Emission.Claims`), so that it refuses exactly the pages whose output an earlier page has
(`Emission.advances_take`).
-/

namespace PageAccessors

/-! ## Counting failures -/

section

variable {α β ε : Type} {f : α → Except ε β}

/-- How many items a function fails for. -/
def failures (f : α → Except ε β) (items : List α) : Nat := items.countP fun a => !(f a).isOk

theorem failures_cons (a : α) (items : List α) :
    failures f (a :: items) = failures f items + if (f a).isOk then 0 else 1 := by
  rw [failures, List.countP_cons, failures]
  cases (f a).isOk <;> rfl

theorem failures_eq_zero {items : List α} :
    failures f items = 0 ↔ ∀ a ∈ items, ∃ b, f a = .ok b := by
  have isOk (a : α) : (¬ (!(f a).isOk) = true) ↔ ∃ b, f a = .ok b := by
    cases f a <;> simp [Except.isOk, Except.toBool]
  rw [failures, List.countP_eq_zero]
  exact forall₂_congr fun a _ => isOk a

end

/-- Without an early end, all items are taken. -/
theorem takeEach_false {σ α : Type} (step : σ → α → σ × Bool) : ∀ (items : List α) (s : σ),
    takeEach false step s items = items.foldl (fun s a => (step s a).1) s
  | [], _ => rfl
  | a :: rest, s => takeEach_false step rest (step s a).1

/-! ## Loading -/

/-- Whether a page was written, and where, or why not. -/
def Event.verdict? : Event → Option (Label × Except PageProblem Path)
  | written page p => some (page, .ok p)
  | refused page problem => some (page, .error problem)
  | _ => none

/-- The account of some more files, of which some cannot be loaded. -/
structure Account.Loads (t : FileTree) (files : List Path) (a a' : Account) : Prop where
  failed : a'.failed = a.failed + failures (loadPages t) files
  total : a'.total = a.total + failures (loadPages t) files
  verdicts : a'.events.filterMap Event.verdict? = a.events.filterMap Event.verdict?

theorem Event.verdict?_eq_none {e : Event} (h : e.page? = none) : e.verdict? = none := by
  cases e <;> first | rfl | cases h

theorem fails_eq_failures {t : FileTree} {tried : List (Path × Bool)} {i : Inputs}
    (h : i.Loaded t tried) : fails tried = failures (loadPages t) (tried.map Prod.fst) := by
  rw [failures, List.countP_map, fails]
  refine List.countP_congr fun c hc => ?_
  have readable := h.readable c hc
  cases hl : loadPages t c.1 <;> simp_all [Except.isOk, Except.toBool]

/-- Without an early end, a run works on the pages of all files that can be loaded. -/
theorem load_eq (t : FileTree) (files : List Path) :
    (Inputs.load t false files).pages = files.flatMap (pagesOf t) ∧
      Account.Loads t files {} (Inputs.load t false files).account := by
  obtain ⟨tried, takes, loaded⟩ := exists_tried false t files
  obtain rfl : tried.map Prod.fst = files := takes
  have failed := fails_eq_failures loaded
  refine ⟨by rw [loaded.pages, List.flatMap_map], ?_⟩
  constructor
  case failed =>
    rw [loaded.covers.failed, failed, Nat.zero_add]
    rfl
  case total =>
    rw [loaded.covers.total, failed, Nat.zero_add]
    rfl
  case verdicts =>
    have untold := List.filterMap_eq_nil_iff.1 loaded.covers.told
    exact List.filterMap_eq_nil_iff.2 fun e he => Event.verdict?_eq_none (untold e he)

/-! ## Checking -/

theorem isOk_generate (o : Options) (p : Page) : (generate o p).isOk = (validate p).isOk := by
  rw [generate]
  cases validate p <;> rfl

/-- How many pages have no class. -/
def rejected (pages : List SourcedPage) : Nat :=
  failures (fun p : SourcedPage => validate p.page) pages

theorem rejected_eq_zero {pages : List SourcedPage} (o : Options) :
    rejected pages = 0 ↔ ∀ p ∈ pages, ∃ file, generate o p.page = .ok file := by
  have generated : rejected pages = failures (fun p : SourcedPage => generate o p.page) pages := by
    simp only [rejected, failures, isOk_generate]
  rw [generated, failures_eq_zero]

theorem rejected_cons (p : SourcedPage) (pages : List SourcedPage) :
    rejected (p :: pages) = rejected pages + if (validate p.page).isOk then 0 else 1 :=
  failures_cons p pages

theorem account_foldl_checkPage : ∀ (pages : List SourcedPage) (a : Account),
    (pages.foldl (fun a p => (checkPage a p).1) a).failed = a.failed + rejected pages ∧
      (pages.foldl (fun a p => (checkPage a p).1) a).total = a.total + pages.length
  | [], _ => ⟨rfl, rfl⟩
  | p :: pages, a => by
    obtain ⟨failed, total⟩ := account_foldl_checkPage pages (checkPage a p).1
    have step : (checkPage a p).1.failed = a.failed + (if (validate p.page).isOk then 0 else 1) ∧
        (checkPage a p).1.total = a.total + 1 := by
      rw [checkPage]
      cases validate p.page <;> exact ⟨rfl, rfl⟩
    rw [List.foldl_cons, failed, total, rejected_cons, step.1, step.2, List.length_cons]
    exact ⟨by omega, by omega⟩

theorem result_checkPages {s : Settings} (hs : s.failFast = false) (files : List Path)
    (t : FileTree) : (checkPages s files t).result =
      let failed := failures (loadPages t) files + rejected (files.flatMap (pagesOf t))
      let total := failures (loadPages t) files + (files.flatMap (pagesOf t)).length
      if failed > 0 then .error (.generation failed total) else .ok total := by
  obtain ⟨pages, loads⟩ := load_eq t files
  obtain ⟨failed, total⟩ := account_foldl_checkPage (files.flatMap (pagesOf t))
    (Inputs.load t false files).account
  rw [loads.failed] at failed
  rw [loads.total] at total
  rw [checkPages, hs]
  simp only [takeEach_false, pages, failed, total, Nat.zero_add]

/-- A check passes if nothing fails, and says how many pages there are. -/
theorem checkPages_eq_ok_iff {s : Settings} (hs : s.failFast = false) {files : List Path}
    {t : FileTree} {n : Nat} : (checkPages s files t).result = .ok n ↔
      failures (loadPages t) files = 0 ∧ rejected (files.flatMap (pagesOf t)) = 0 ∧
        n = (files.flatMap (pagesOf t)).length := by
  rw [result_checkPages hs]
  constructor
  · intro h
    simp only at h
    split_ifs at h with failed
    have := Except.ok.inj h
    exact ⟨by omega, by omega, by omega⟩
  · rintro ⟨readable, accepted, rfl⟩
    simp [readable, accepted]

theorem pos_of_checkPages_eq_error {s : Settings} (hs : s.failFast = false) {files : List Path}
    {t : FileTree} {e : CommandError} (h : (checkPages s files t).result = .error e) :
    0 < failures (loadPages t) files + rejected (files.flatMap (pagesOf t)) := by
  rw [result_checkPages hs] at h
  simp only at h
  split_ifs at h with failed
  exact failed

/-! ## Outputs -/

/-- The package of a page and the name of its class. -/
def SourcedPage.output (p : SourcedPage) : String × String :=
  (p.page.package, p.page.className.getD p.page.name)

namespace Emitted

/-- Two pages ask for the same output. -/
def sameOutput (x y : Emitted) : Bool := x.page.output = y.page.output

/-- The pages that are the first ones for their outputs. -/
def firsts (xs : List Emitted) : List Emitted := xs.eraseDupsBy sameOutput

/-- Those of some pages behind others that are the first ones for their outputs. -/
def firstsBehind (front xs : List Emitted) : List Emitted :=
  firsts (xs.filter fun x => (front.find? (x.sameOutput ·)).isNone)

/-- Writes the file of a page, with its manifest if there are to be manifests. -/
def write (s : Settings) (time : String) (x : Emitted) : Disk Path :=
  writeGenerated time s.output x.file
    (if s.manifests then some (regenerateCommand x.page.source s.output) else none)

/-- What becomes of a page behind others: if one of these has its output, it is refused and told the
first of them, and otherwise it is written. -/
def verdict (s : Settings) (front : List Emitted) (x : Emitted) : Except PageProblem Path :=
  match front.find? (x.sameOutput ·) with
  | some first => .error (.taken x.file.relativePath first.page.label)
  | none => .ok (x.path s)

/-- What becomes of pages behind others, one after the other. -/
def verdicts (s : Settings) : List Emitted → List Emitted → List (Label × Except PageProblem Path)
  | _, [] => []
  | front, x :: rest => (x.page.label, x.verdict s front) :: verdicts s (front ++ [x]) rest

section

variable {s : Settings} {time : String} {x y : Emitted} {front rest : List Emitted}

theorem firstsBehind_nil (xs : List Emitted) : firstsBehind [] xs = firsts xs :=
  congrArg firsts (List.filter_eq_self.2 fun _ _ => rfl)

theorem isNone_find?_concat (front : List Emitted) (x y : Emitted) :
    ((front ++ [x]).find? (y.sameOutput ·)).isNone =
      ((front.find? (y.sameOutput ·)).isNone && !y.sameOutput x) := by
  rw [List.find?_append, List.find?_singleton]
  cases front.find? (y.sameOutput ·) <;> cases y.sameOutput x <;> rfl

/-- A page with the output of another one has the output of each page that this one has it of. -/
theorem find?_eq_none_of_sameOutput (same : y.sameOutput x)
    (h : front.find? (y.sameOutput ·) = none) : front.find? (x.sameOutput ·) = none := by
  rw [List.find?_eq_none] at h ⊢
  intro z hz
  have ne := h z hz
  simp only [sameOutput, decide_eq_true_eq] at same ne ⊢
  exact fun he => ne (same.trans he)

theorem firstsBehind_cons_of_some {first : Emitted}
    (hf : front.find? (x.sameOutput ·) = some first) :
    firstsBehind front (x :: rest) = firstsBehind (front ++ [x]) rest := by
  rw [firstsBehind, List.filter_cons_of_neg (by simp [hf]), firstsBehind]
  refine congrArg firsts (List.filter_congr fun y _ => ?_)
  rw [isNone_find?_concat]
  cases hy : front.find? (y.sameOutput ·) with
  | some other => rfl
  | none =>
    cases same : y.sameOutput x with
    | false => rfl
    | true =>
      have := find?_eq_none_of_sameOutput same hy
      rw [hf] at this
      cases this

theorem firstsBehind_cons_of_none (hf : front.find? (x.sameOutput ·) = none) :
    firstsBehind front (x :: rest) = x :: firstsBehind (front ++ [x]) rest := by
  rw [firstsBehind, List.filter_cons_of_pos (by simp [hf]), firsts, List.eraseDupsBy_cons,
    List.filter_filter, firstsBehind, firsts]
  refine congrArg (fun xs => x :: xs.eraseDupsBy sameOutput) (List.filter_congr fun y _ => ?_)
  rw [isNone_find?_concat, Bool.and_comm]
  cases y.sameOutput x <;> rfl

theorem getElem?_verdicts (x : Emitted) (after : List Emitted) :
    ∀ before front : List Emitted, (verdicts s front (before ++ x :: after))[before.length]? =
      some (x.page.label, x.verdict s (front ++ before))
  | [], front => by
    rw [List.append_nil]
    rfl
  | y :: before, front => by
    have := getElem?_verdicts x after before (front ++ [y])
    rwa [List.append_assoc] at this

theorem length_verdicts : ∀ front rest : List Emitted,
    (verdicts s front rest).length = rest.length
  | _, [] => rfl
  | front, x :: rest => congrArg (· + 1) (length_verdicts (front ++ [x]) rest)

theorem isOk_verdict : (x.verdict s front).isOk = (front.find? (x.sameOutput ·)).isNone := by
  rw [verdict]
  cases front.find? (x.sameOutput ·) <;> rfl

/-- No page is refused exactly if no two pages ask for one output. -/
theorem failures_verdicts_eq_zero : ∀ {rest front : List Emitted},
    failures Prod.snd (verdicts s front rest) = 0 ↔
      (∀ x ∈ rest, (front.find? (x.sameOutput ·)).isNone) ∧
        (rest.map fun x => x.page.output).Nodup
  | [], front => by simp [verdicts, failures]
  | x :: rest, front => by
    have apart : x.page.output ∉ rest.map (fun y => y.page.output) ↔
        ∀ y ∈ rest, y.sameOutput x = false := by
      simp [sameOutput]
    have head : failures Prod.snd (verdicts s front (x :: rest)) = 0 ↔
        (front.find? (x.sameOutput ·)).isNone ∧
          failures Prod.snd (verdicts s (front ++ [x]) rest) = 0 := by
      rw [verdicts, failures_cons, isOk_verdict]
      cases (front.find? (x.sameOutput ·)).isNone <;> simp
    rw [head, failures_verdicts_eq_zero, List.forall_mem_cons, List.map_cons, List.nodup_cons,
      apart]
    simp only [isNone_find?_concat, Bool.and_eq_true, Bool.not_eq_true', forall_and, and_assoc]

theorem verdicts_eq_map : ∀ {rest front : List Emitted},
    failures Prod.snd (verdicts s front rest) = 0 →
      verdicts s front rest = rest.map fun x => (x.page.label, .ok (x.path s))
  | [], _, _ => rfl
  | x :: rest, front, h => by
    rw [verdicts, failures_cons, isOk_verdict, Nat.add_eq_zero_iff] at h
    have none_ : front.find? (x.sameOutput ·) = none := by
      rw [← Option.isNone_iff_eq_none]
      simpa using h.2
    rw [verdicts, verdicts_eq_map h.1, verdict, none_, List.map_cons]

theorem IsGenerated.claim_eq (h : x.IsGenerated s) :
    x.claim = (fileWay x.page.output.1 x.page.output.2).map .name := by
  obtain ⟨d, hv, named⟩ := relativePath_of_generate h
  obtain ⟨-, hn, -, hc, -⟩ := check_eq_ok_iff.1 (validateWith_eq_ok_iff.1 hv)
  have name : d.outputName.text = x.page.output.2 := by
    rw [SourcedPage.output, Declaration.outputName, ← hc, ← hn, Option.getD_map]
  rw [claim, named.components, name]
  rfl

/-- Pages claim the same place exactly if they ask for the same output. -/
theorem IsGenerated.claim_eq_iff (hx : x.IsGenerated s) (hy : y.IsGenerated s) :
    x.claim = y.claim ↔ x.sameOutput y := by
  rw [hx.claim_eq, hy.claim_eq, sameOutput, decide_eq_true_iff]
  constructor
  · intro h
    obtain ⟨package, name⟩ :=
      fileWay_inj (List.map_injective_iff.2 (fun _ _ => Component.name.inj) h)
    exact Prod.ext package name
  · exact fun h => by rw [h]

theorem IsGenerated.path_of_write (h : x.IsGenerated s) {t t' : FileTree} {path : Path}
    (hw : (x.write s time).apply t = (.ok path, t')) : path = x.path s := by
  obtain ⟨r, t'', hw', -, ok⟩ := writeGenerated_spec h time s.output
    (if s.manifests then some (regenerateCommand x.page.source s.output) else none) t
  exact (ok path (Prod.mk.inj (hw'.symm.trans hw)).1).1

end

end Emitted

/-! ## A run -/

theorem Disk.apply_bind_eq_ok {α β : Type} {a : Disk α} {f : α → Disk β} {t t' : FileTree} {y : β} :
    (a >>= f).apply t = (.ok y, t') ↔
      ∃ x next, a.apply t = (.ok x, next) ∧ (f x).apply next = (.ok y, t') := by
  rw [apply_bind]
  rcases a.apply t with ⟨_ | x, next⟩
  · exact ⟨nofun, fun ⟨_, _, he, _⟩ => nomatch (Prod.mk.inj he).1⟩
  · refine ⟨fun h => ⟨x, next, rfl, h⟩, ?_⟩
    rintro ⟨x, next, he, h⟩
    obtain ⟨hx, rfl⟩ := Prod.mk.inj he
    rwa [Except.ok.inj hx]

namespace Emission

open Emitted

/-- The places of some pages are claimed, each for the first of them that asks for it, and no
others. -/
def Claims (s : Settings) (front : List Emitted) (e : Emission) : Prop :=
  ∀ x : Emitted, x.IsGenerated s →
    e.claims.lookup x.claim = (front.find? (x.sameOutput ·)).map (·.page.label)

section

variable {s : Settings} {time : String} {x : Emitted} {front rest : List Emitted} {e : Emission}

theorem Claims.taken (h : e.Claims s front) {first : Emitted}
    (hf : front.find? (x.sameOutput ·) = some first) (account : Account) :
    Claims s (front ++ [x]) { e with account := account } := by
  intro y hy
  rw [h y hy, List.find?_append]
  cases hy' : front.find? (y.sameOutput ·) with
  | some other => rfl
  | none =>
    have apart : y.sameOutput x = false := by
      rw [Bool.eq_false_iff]
      intro same
      rw [find?_eq_none_of_sameOutput same hy'] at hf
      cases hf
    rw [List.find?_singleton, apart]
    rfl

theorem Claims.claim (h : e.Claims s front) (hx : x.IsGenerated s)
    (hf : front.find? (x.sameOutput ·) = none) (tree : FileTree) (written : List Path)
    (account : Account) :
    Claims s (front ++ [x]) ⟨tree, (x.claim, x.page.label) :: e.claims, written, account⟩ := by
  intro y hy
  rw [List.lookup_cons, h y hy, List.find?_append, List.find?_singleton]
  by_cases same : y.sameOutput x
  · have claim := (hy.claim_eq_iff hx).2 same
    have free : front.find? (y.sameOutput ·) = none := by
      rw [← Option.map_eq_none_iff, ← h y hy, claim, h x hx, hf, Option.map_none]
    rw [beq_iff_eq.2 claim, free, if_pos same]
    rfl
  · rw [beq_false_of_ne fun claim => same ((hy.claim_eq_iff hx).1 claim), if_neg same,
      Option.or_none]

theorem add_taken (h : e.Claims s front) (hx : x.IsGenerated s) {first : Emitted}
    (hf : front.find? (x.sameOutput ·) = some first) :
    e.add s time (x.page, generate s.options x.page.page) =
      ({ e with
          account := e.account.fail
            (.refused x.page.label (.taken x.file.relativePath first.page.label)) }, false) := by
  have claimed : e.claims.lookup x.file.relativePath.components = some first.page.label := by
    rw [← Emitted.claim, h x hx, hf, Option.map_some]
  rw [IsGenerated] at hx
  rw [hx]
  simp only [add, place, claimed]

theorem add_written (h : e.Claims s front) (hx : x.IsGenerated s)
    (hf : front.find? (x.sameOutput ·) = none) {path : Path} {tree : FileTree}
    (hw : (x.write s time).apply e.tree = (.ok path, tree)) :
    e.add s time (x.page, generate s.options x.page.page) =
      (⟨tree, (x.claim, x.page.label) :: e.claims, e.written ++ [x.path s],
        (e.account.note (.generated x.file)).pass (.written x.page.label (x.path s))⟩, true) := by
  have free : e.claims.lookup x.claim = none := by rw [h x hx, hf, Option.map_none]
  obtain rfl := hx.path_of_write hw
  rcases e.add_cases s time x.page (generate s.options x.page.page) with
    ⟨problem, -, claimed⟩ | ⟨file, r, tree', hg, -, hw', step⟩
  · exact absurd free (claimed x.file hx)
  obtain rfl : x.file = file := Except.ok.inj (hx.symm.trans hg)
  obtain ⟨rfl, rfl⟩ := Prod.mk.inj (hw'.symm.trans hw)
  rcases step with ⟨path, he, step⟩ | ⟨fault, he, -⟩
  · rw [step, ← Except.ok.inj he]
    rfl
  · cases he

/-- What some pages add to a run, behind others. -/
structure Advances (s : Settings) (front rest : List Emitted) (tree : FileTree)
    (e e' : Emission) : Prop where
  tree : e'.tree = tree
  written : e'.written = e.written ++ (verdicts s front rest).filterMap fun v => v.2.toOption
  told : e'.account.events.filterMap Event.verdict? =
    e.account.events.filterMap Event.verdict? ++ verdicts s front rest
  failed : e'.account.failed =
    e.account.failed + failures Prod.snd (verdicts s front rest)
  total : e'.account.total = e.account.total + rest.length

theorem Advances.taken {tree : FileTree} {first : Emitted} {e' : Emission}
    (hf : front.find? (x.sameOutput ·) = some first)
    (h : Advances s (front ++ [x]) rest tree
      { e with
          account := e.account.fail
            (.refused x.page.label (.taken x.file.relativePath first.page.label)) } e') :
    Advances s front (x :: rest) tree e e' := by
  have refused : x.verdict s front = .error (.taken x.file.relativePath first.page.label) := by
    rw [verdict, hf]
  constructor
  case tree => exact h.tree
  case written =>
    rw [h.written, verdicts, refused]
    rfl
  case told =>
    rw [h.told, verdicts, refused, Account.fail, Account.note, List.filterMap_append,
      List.append_assoc]
    rfl
  case failed =>
    rw [h.failed, verdicts, failures_cons, refused]
    exact Nat.add_right_comm _ 1 _
  case total =>
    rw [h.total, List.length_cons]
    exact Nat.add_right_comm _ 1 _

theorem Advances.written_first {tree next : FileTree} {claims : List (List Component × Label)}
    {e' : Emission} (hf : front.find? (x.sameOutput ·) = none)
    (h : Advances s (front ++ [x]) rest tree
      ⟨next, claims, e.written ++ [x.path s],
        (e.account.note (.generated x.file)).pass (.written x.page.label (x.path s))⟩ e') :
    Advances s front (x :: rest) tree e e' := by
  have written : x.verdict s front = .ok (x.path s) := by rw [verdict, hf]
  constructor
  case tree => exact h.tree
  case written =>
    rw [h.written, verdicts, written, List.append_assoc]
    rfl
  case told =>
    rw [h.told, verdicts, written, Account.pass, Account.note, Account.note]
    simp only [List.filterMap_append, List.append_assoc]
    rfl
  case failed =>
    rw [h.failed, verdicts, failures_cons, written]
    rfl
  case total =>
    rw [h.total, List.length_cons]
    exact Nat.add_right_comm _ 1 _

theorem advances_take (going : s.failFast = false) {tree : FileTree} :
    ∀ {rest front : List Emitted} {e : Emission} {paths : List Path},
      (∀ x ∈ rest, x.IsGenerated s) → e.Claims s front →
      ((firstsBehind front rest).mapM (write s time)).apply e.tree = (.ok paths, tree) →
      Advances s front rest tree e (e.take s time (rest.map Emitted.page))
  | [], front, e, paths, _, _, writes => by
    obtain rfl : e.tree = tree := (Prod.mk.inj writes).2
    exact ⟨rfl, (List.append_nil _).symm, (List.append_nil _).symm, rfl, rfl⟩
  | x :: rest, front, e, paths, generated, claims, writes => by
    rw [List.forall_mem_cons] at generated
    obtain ⟨hx, generated⟩ := generated
    cases hf : front.find? (x.sameOutput ·) with
    | some first =>
      -- Nothing is written for this page, and all writes are still to come.
      rw [firstsBehind_cons_of_some hf] at writes
      rw [List.map_cons, take_cons (add_taken claims hx hf), if_neg (by simp [going])]
      have claims' := claims.taken hf (e.account.fail
        (.refused x.page.label (.taken x.file.relativePath first.page.label)))
      exact (advances_take going generated claims' writes).taken hf
    | none =>
      rw [firstsBehind_cons_of_none hf, List.mapM_cons, Disk.apply_bind_eq_ok] at writes
      obtain ⟨path, next, hw, writes⟩ := writes
      obtain ⟨paths, left, others, last⟩ := Disk.apply_bind_eq_ok.1 writes
      obtain rfl : left = tree := (Prod.mk.inj last).2
      rw [List.map_cons, take_cons (add_written claims hx hf hw), if_neg (by simp)]
      have claims' := claims.claim hx hf next (e.written ++ [x.path s])
        ((e.account.note (.generated x.file)).pass (.written x.page.label (x.path s)))
      exact (advances_take going generated claims' others).written_first hf

end

end Emission

theorem exists_emitted {s : Settings} : ∀ {pages : List SourcedPage},
    (∀ p ∈ pages, ∃ file, generate s.options p.page = .ok file) →
      ∃ xs : List Emitted, xs.map Emitted.page = pages ∧ ∀ x ∈ xs, x.IsGenerated s
  | [], _ => ⟨[], rfl, nofun⟩
  | p :: pages, h => by
    rw [List.forall_mem_cons] at h
    obtain ⟨file, hg⟩ := h.1
    obtain ⟨xs, rfl, generated⟩ := exists_emitted h.2
    exact ⟨⟨p, file⟩ :: xs, rfl, List.forall_mem_cons.2 ⟨hg, generated⟩⟩

theorem failed_le_add (s : Settings) (time : String) (e : Emission) (p : SourcedPage) :
    e.account.failed + (if (validate p.page).isOk then 0 else 1) ≤
      (e.add s time (p, generate s.options p.page)).1.account.failed := by
  rcases e.add_cases s time p (generate s.options p.page) with
    ⟨problem, he, -⟩ | ⟨file, r, tree, hg, -, -, step⟩
  · rw [he]
    exact Nat.add_le_add_left (by split_ifs <;> omega) _
  · have accepted : (validate p.page).isOk := by
      rw [← isOk_generate s.options, hg]
      rfl
    rw [if_pos accepted]
    rcases step with ⟨path, -, he⟩ | ⟨fault, -, he⟩
    · rw [he]
      exact le_rfl
    · rw [he]
      exact Nat.le_succ _

/-- A run fails for each page without a class. -/
theorem failed_le_take {s : Settings} (going : s.failFast = false) (time : String) :
    ∀ (pages : List SourcedPage) (e : Emission),
      e.account.failed + rejected pages ≤ (e.take s time pages).account.failed
  | [], _ => le_rfl
  | p :: pages, e => by
    -- A page with a class may fail as well, so that this is a lower bound only.
    rcases he : e.add s time (p, generate s.options p.page) with ⟨next, passed⟩
    have first : e.account.failed + (if (validate p.page).isOk then 0 else 1) ≤
        next.account.failed := by
      simpa only [he] using failed_le_add s time e p
    have rest := failed_le_take going time pages next
    rw [Emission.take_cons he, if_neg (by simp [going]), rejected_cons]
    omega

/-- Without an early end, a run takes all pages. -/
theorem emitPages_eq {m : Machine} {s : Settings} (going : s.failFast = false)
    (files : List Path) (t : FileTree) : emitPages m s files t =
      let e := Emission.take s m.time { tree := t, account := (Inputs.load t false files).account }
        (files.flatMap (pagesOf t))
      { tree := e.tree
        events := (e.account.close "page(s)" e.account.total).events
        result :=
          if e.account.failed > 0 then .error (.generation e.account.failed e.account.total)
          else .ok e.written } := by
  rw [emitPages_eq_take (fun early => nomatch going.symm.trans early), going, (load_eq t files).1]

/-- What a run does with pages that have files: it takes all of them, it refuses those whose output
an earlier page has, and it fails if there are any. -/
structure Foretold (s : Settings) (xs : List Emitted) (o : Outcome (List Path)) : Prop where
  told : (o.events.filterMap Event.verdict?).length = xs.length
  verdict : ∀ front x rest, xs = front ++ x :: rest →
    (o.events.filterMap Event.verdict?)[front.length]? = some (x.page.label, x.verdict s front)
  distinct : (xs.map fun x => x.page.output).Nodup → o.result = .ok (xs.map (Emitted.path s))
  repeated : ¬ (xs.map fun x => x.page.output).Nodup → o.result = .error
    (.generation (failures Prod.snd (o.events.filterMap Event.verdict?)) xs.length)

theorem foretold_emitPages {m : Machine} {s : Settings} (going : s.failFast = false)
    {files : List Path} {t tree : FileTree} (readable : failures (loadPages t) files = 0)
    {xs : List Emitted} (pages : xs.map Emitted.page = files.flatMap (pagesOf t))
    (generated : ∀ x ∈ xs, x.IsGenerated s) {paths : List Path}
    (writes : ((Emitted.firsts xs).mapM (Emitted.write s m.time)).apply t = (.ok paths, tree)) :
    Foretold s xs (emitPages m s files t) ∧ (emitPages m s files t).tree = tree := by
  obtain ⟨-, failed, total, unheard⟩ := load_eq t files
  rw [readable] at failed total
  rw [← Emitted.firstsBehind_nil] at writes
  have start : Emission.Claims s []
      { tree := t, account := (Inputs.load t false files).account } := fun _ _ => rfl
  have advances := Emission.advances_take going generated start writes
  rw [pages] at advances
  -- The summary says nothing of a page.
  have events : (emitPages m s files t).events.filterMap Event.verdict? =
      Emitted.verdicts s [] xs := by
    rw [emitPages_eq going]
    refine List.filterMap_append.trans ((List.append_nil _).trans ?_)
    rw [advances.told, unheard]
    rfl
  have result : (emitPages m s files t).result =
      if failures Prod.snd (Emitted.verdicts s [] xs) > 0 then
        .error (.generation (failures Prod.snd (Emitted.verdicts s [] xs)) xs.length)
      else .ok ((Emitted.verdicts s [] xs).filterMap fun v => v.2.toOption) := by
    rw [emitPages_eq going]
    simp only [advances.failed, advances.total, advances.written, failed, total, Nat.zero_add,
      List.nil_append]
  have refused : failures Prod.snd (Emitted.verdicts s [] xs) = 0 ↔
      (xs.map fun x => x.page.output).Nodup :=
    Emitted.failures_verdicts_eq_zero.trans (and_iff_right fun _ _ => rfl)
  refine ⟨?_, ?_⟩
  · constructor
    case told => rw [events, Emitted.length_verdicts]
    case verdict =>
      rintro front x rest rfl
      rw [events]
      exact Emitted.getElem?_verdicts x rest front []
    case distinct =>
      intro distinct
      have zero := refused.2 distinct
      rw [result, if_neg (by omega), Emitted.verdicts_eq_map zero, List.filterMap_map]
      exact congrArg (fun paths => Except.ok paths) (congrFun List.filterMap_eq_map xs)
    case repeated =>
      intro repeated
      rw [result, if_pos (Nat.pos_of_ne_zero fun zero => repeated (refused.1 zero)), events]
  · rw [emitPages_eq going]
    exact advances.tree

/-- A check passes exactly if all files can be loaded and there is a file for each page. A run then
does what is foretold, if the first page for each output can be written; and it fails where the
check does. -/
theorem check_foretells_run {s s' : Settings} (hs : s.failFast = false) (hs' : s'.failFast = false)
    (m : Machine) (files : List Path) (t : FileTree) :
    (∀ n, (checkPages s files t).result = .ok n ↔
      (∀ file ∈ files, ∃ pages, loadPages t file = .ok pages) ∧
        (∀ p ∈ files.flatMap (pagesOf t), ∃ file, generate s'.options p.page = .ok file) ∧
        n = (files.flatMap (pagesOf t)).length) ∧
    (∀ n, (checkPages s files t).result = .ok n →
      ∃ xs : List Emitted, xs.map Emitted.page = files.flatMap (pagesOf t) ∧
        (∀ x ∈ xs, x.IsGenerated s') ∧ xs.length = n ∧ ∀ paths tree,
          ((Emitted.firsts xs).mapM (Emitted.write s' m.time)).apply t = (.ok paths, tree) →
          Foretold s' xs (emitPages m s' files t) ∧ (emitPages m s' files t).tree = tree) ∧
    ∀ e, (checkPages s files t).result = .error e →
      ∃ e', (emitPages m s' files t).result = .error e' := by
  refine ⟨fun n => ?_, fun n checked => ?_, fun e checked => ?_⟩
  · rw [checkPages_eq_ok_iff hs, failures_eq_zero, rejected_eq_zero s'.options]
  · obtain ⟨readable, accepted, rfl⟩ := (checkPages_eq_ok_iff hs).1 checked
    obtain ⟨xs, pages, generated⟩ := exists_emitted ((rejected_eq_zero s'.options).1 accepted)
    refine ⟨xs, pages, generated, by rw [← pages, List.length_map], fun paths tree writes => ?_⟩
    exact foretold_emitPages hs' readable pages generated writes
  · have some_ := pos_of_checkPages_eq_error hs checked
    have failed := failed_le_take hs' m.time (files.flatMap (pagesOf t))
      { tree := t, account := (Inputs.load t false files).account }
    rw [(load_eq t files).2.failed.trans (Nat.zero_add _)] at failed
    rw [emitPages_eq hs']
    exact ⟨_, if_pos (some_.trans_le failed)⟩

open Login in
/-- A page that is named twice is accepted twice, and the run refuses it the second time. -/
theorem check_foretells_run_login :
    (settings {}).failFast = false ∧
      (checkPages (settings {}) [page.source, page.source] tree).result = .ok 2 ∧
      (emitPages ⟨1, ""⟩ (settings {}) [page.source, page.source] tree).result =
        .error (.generation 1 2) ∧
      (emitPages ⟨1, ""⟩ (settings {}) [page.source, page.source] tree).events.filterMap
          Event.verdict? =
        [(page.label, .ok path),
          (page.label, .error (.taken (emitted {}).file.relativePath page.label))] := by
  have pages : [page.source, page.source].flatMap (pagesOf tree) = [page, page] := by
    simp [pagesOf_source]
  have going : (settings {}).failFast = false := rfl
  obtain ⟨check, run, -⟩ :=
    check_foretells_run going going ⟨1, ""⟩ [page.source, page.source] tree
  rw [pages] at check run
  have checked := (check 2).2 ⟨by simp [loadPages_source], by simpa using ⟨_, isGenerated {}⟩, rfl⟩
  obtain ⟨xs, hp, generated, -, foretold⟩ := run 2 checked
  have only (x : Emitted) (hx : x.page = page) (hg : x.IsGenerated (settings {})) :
      x = emitted {} := hg.eq_of_page (isGenerated {}) (hx.trans (page_emitted {}).symm)
  obtain ⟨x, ys, rfl, hx, hp⟩ := List.map_eq_cons_iff.1 hp
  obtain ⟨y, zs, rfl, hy, hz⟩ := List.map_eq_cons_iff.1 hp
  obtain rfl := List.map_eq_nil_iff.1 hz
  obtain rfl := only x hx (generated _ (.head _))
  obtain rfl := only y hy (generated _ (.tail _ (.head _)))
  -- Only the first of them is written.
  have firsts : Emitted.firsts [emitted {}, emitted {}] = [emitted {}] := by
    simp [Emitted.firsts, Emitted.sameOutput, List.eraseDupsBy_cons]
  obtain ⟨r, left, hw, -, -, ready⟩ :=
    writeGenerated_manifest_spec (isGenerated {}) "" tree
  obtain rfl := ready (path_emitted {} ▸ inPlace)
  have writes : ((Emitted.firsts [emitted {}, emitted {}]).mapM
      (Emitted.write (settings {}) "")).apply tree =
        (.ok [(emitted {}).path (settings {})], left) := by
    rw [firsts, List.mapM_cons, Disk.apply_bind_eq_ok]
    exact ⟨_, left, hw, rfl⟩
  obtain ⟨⟨told, verdict, -, repeated⟩, -⟩ := foretold _ _ writes
  have first := verdict [] _ _ rfl
  have second := verdict [emitted {}] _ _ rfl
  have result := repeated (by simp)
  obtain ⟨a, b, events⟩ := List.length_eq_two.1 told
  rw [events] at first second result ⊢
  obtain rfl := Option.some.inj first
  obtain rfl := Option.some.inj second
  have verdicts : (emitted {}).verdict (settings {}) [] = .ok path ∧
      (emitted {}).verdict (settings {}) [emitted {}] =
        .error (.taken (emitted {}).file.relativePath page.label) := by
    constructor
    · exact congrArg _ (path_emitted {})
    · simp only [Emitted.verdict, Emitted.sameOutput, List.find?_cons, decide_true, page_emitted]
  rw [verdicts.1, verdicts.2] at result ⊢
  rw [page_emitted]
  exact ⟨going, checked, result, rfl⟩

end PageAccessors
