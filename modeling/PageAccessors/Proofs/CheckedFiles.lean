import PageAccessors.Inspection
import PageAccessors.Proofs.Verification

/-!
# Files that are checked

A run takes its items one after the other, and one that is to end early takes those up to the first
that does not pass (`exists_takes`). A verification tells each file that it takes, but it counts all
that it has found (`exists_checked`). So what it counts are the files that it checked exactly if no
file was left when it ended (`counts_verifyFiles_iff`).
-/

namespace PageAccessors

/-! ## Taking items -/

section

variable {σ α : Type} {failFast passed : Bool} {a : α} {l rest : List α}
  {taken : List (α × Bool)}

/-- The items that are taken of a list, each with whether it passed: all of them, or with `failFast`
those up to the first that did not pass. -/
def Takes (failFast : Bool) (l : List α) (taken : List (α × Bool)) : Prop :=
  if failFast then
    taken = l.map (·, true) ∨
      ∃ front a rest, l = front ++ a :: rest ∧ taken = front.map (·, true) ++ [(a, false)]
  else taken.map Prod.fst = l

def passes (taken : List (α × Bool)) : Nat := taken.countP (·.2)

def fails (taken : List (α × Bool)) : Nat := taken.countP (!·.2)

theorem passes_add_fails (taken : List (α × Bool)) : passes taken + fails taken = taken.length := by
  rw [List.length_eq_countP_add_countP (·.2), passes, fails]
  simp only [Bool.not_eq_true, Bool.decide_eq_false]

theorem fails_concat (taken : List (α × Bool)) (a : α) (passed : Bool) :
    fails (taken ++ [(a, passed)]) = fails taken + if passed then 0 else 1 := by
  rw [fails, List.countP_append, List.countP_singleton, fails]
  cases passed <;> rfl

theorem takes_nil : Takes failFast ([] : List α) [] := by
  cases failFast
  · rfl
  · exact .inl rfl

theorem Takes.cons (h : Takes failFast rest taken) (going : failFast = true → passed = true) :
    Takes failFast (a :: rest) ((a, passed) :: taken) := by
  cases failFast with
  | false => exact congrArg (a :: ·) h
  | true =>
    obtain rfl := going rfl
    rcases h with rfl | ⟨front, b, after, rfl, rfl⟩
    · exact .inl rfl
    · exact .inr ⟨a :: front, b, after, rfl, rfl⟩

theorem takes_cons_failed : Takes true (a :: rest) [(a, false)] := .inr ⟨[], a, rest, rfl, rfl⟩

theorem takes_singleton (h : Takes failFast [a] taken) : ∃ passed, taken = [(a, passed)] := by
  cases failFast with
  | false =>
    obtain ⟨⟨b, passed⟩, rfl, rfl⟩ := List.map_eq_singleton_iff.1 h
    exact ⟨passed, rfl⟩
  | true =>
    rcases h with rfl | ⟨front, b, rest, hl, rfl⟩
    · exact ⟨true, rfl⟩
    · obtain ⟨rfl, hb⟩ | ⟨-, hb⟩ := List.singleton_eq_append_iff.1 hl
      · obtain rfl := (List.cons.inj hb).1
        exact ⟨false, rfl⟩
      · cases hb

theorem Takes.sublist (h : Takes failFast l taken) : (taken.map Prod.fst).Sublist l := by
  cases failFast with
  | false =>
    obtain rfl : taken.map Prod.fst = l := h
    exact .refl _
  | true =>
    rcases h with rfl | ⟨front, a, rest, rfl, rfl⟩
    · simp [Function.comp_def]
    · simp [Function.comp_def]

theorem takeEach_map {β : Type} (failFast : Bool) (step : σ → β → σ × Bool) (f : α → β) :
    ∀ (l : List α) (s : σ), takeEach failFast step s (l.map f) =
      takeEach failFast (fun s a => step s (f a)) s l
  | [], _ => rfl
  | a :: rest, s => by
    rw [List.map_cons, takeEach, takeEach]
    simp only [takeEach_map failFast step f rest]

/-- What each step keeps of the items that have been taken holds of all of them in the end. -/
theorem exists_takes {step : σ → α → σ × Bool} {P : List (α × Bool) → σ → Prop}
    (hstep : ∀ taken s a, P taken s → P (taken ++ [(a, (step s a).2)]) (step s a).1) :
    ∀ {l : List α} {s : σ} {front : List (α × Bool)}, P front s →
      ∃ taken, Takes failFast l taken ∧ P (front ++ taken) (takeEach failFast step s l)
  | [], s, front, start => ⟨[], takes_nil, by rwa [List.append_nil]⟩
  | a :: rest, s, front, start => by
    have next := hstep front s a start
    rw [takeEach]
    split
    rename_i s' passed he
    rw [he] at next
    split_ifs with ends
    · obtain ⟨rfl, rfl⟩ : failFast = true ∧ passed = false := by simpa using ends
      exact ⟨[(a, false)], takes_cons_failed, next⟩
    · -- The rest is taken behind this item, which is now one of those in front.
      obtain ⟨taken, takes, hP⟩ := exists_takes hstep next
      refine ⟨(a, passed) :: taken, takes.cons fun early => ?_, ?_⟩
      · simpa [early] using ends
      · rwa [List.append_assoc] at hP

/-- All items are taken unless an end comes early, which it does if one in front does not pass. -/
theorem Takes.length_eq_iff {P : α → Prop} (h : Takes failFast l taken)
    (judged : ∀ c ∈ taken, c.2 = true ↔ P c.1) :
    taken.length = l.length ↔ failFast = false ∨ ∀ a ∈ l.dropLast, P a := by
  cases failFast with
  | false =>
    obtain rfl : taken.map Prod.fst = l := h
    simp
  | true =>
    rcases h with rfl | ⟨front, a, rest, rfl, rfl⟩
    · have passed : ∀ a ∈ l, P a := fun a ha =>
        (judged (a, true) (List.mem_map_of_mem ha)).1 rfl
      simpa using fun a ha => passed a (List.dropLast_subset l ha)
    · have failed : ¬ P a := fun ok => nomatch (judged (a, false) (by simp)).2 ok
      have passed : ∀ b ∈ front, P b := fun b hb => (judged (b, true) (by simp [hb])).1 rfl
      cases rest with
      | nil => simpa using passed
      | cons b rest =>
        -- The item at which the end came is not the last one.
        have left : ¬ ∀ c ∈ (front ++ a :: b :: rest).dropLast, P c := fun all =>
          failed (all a (by simp))
        simpa using left

end

/-! ## Verifying -/

def verifiedEvent (t : FileTree) (file : Path) : Event :=
  match verify t file with
  | .ok () => .intact file
  | .error f => .altered f

/-- A verification tells how many files it checked, how many of them verified, and how many did
not. -/
structure Counts (checked : List (Path × Bool)) (tally : Tally) (result : Except CommandError Nat) :
    Prop where
  passed : tally.passed = passes checked
  failed : tally.failed = fails checked
  error : 0 < fails checked → result = .error (.verification (fails checked) checked.length)
  ok : fails checked = 0 → result = .ok checked.length

section

variable {s : Settings} {directory : Path} {t : FileTree}

theorem verifyFile_eq (a : Account) (file : Path) :
    ((verifyFile t a file).2 = true ↔ verify t file = .ok ()) ∧
      (verifyFile t a file).1.events = a.events ++ [verifiedEvent t file] ∧
      (verifyFile t a file).1.failed =
        a.failed + if (verifyFile t a file).2 then 0 else 1 := by
  unfold verifyFile verifiedEvent
  cases verify t file with
  | error f => exact ⟨by simp, rfl, rfl⟩
  | ok u => exact ⟨by simp, rfl, rfl⟩

theorem verifiedEvent_ne_summary {tally : Tally} (file : Path) :
    verifiedEvent t file ≠ .summary tally := by
  unfold verifiedEvent
  cases verify t file with
  | error f => nofun
  | ok u => nofun

/-- The files that are taken are told as what they are, and it is counted which do not verify. -/
theorem exists_checked (failFast : Bool) (t : FileTree) (files : List Path) : ∃ checked,
    Takes failFast files checked ∧ (∀ c ∈ checked, c.2 = true ↔ verify t c.1 = .ok ()) ∧
      (takeEach failFast (verifyFile t) {} files).events =
        checked.map (fun c => verifiedEvent t c.1) ∧
      (takeEach failFast (verifyFile t) {} files).failed = fails checked := by
  refine exists_takes (P := fun (checked : List (Path × Bool)) (a : Account) =>
    (∀ c ∈ checked, c.2 = true ↔ verify t c.1 = .ok ()) ∧
      a.events = checked.map (fun c => verifiedEvent t c.1) ∧ a.failed = fails checked)
    ?_ ⟨List.forall_mem_nil _, rfl, rfl⟩
  rintro checked a file ⟨judged, events, failed⟩
  obtain ⟨passed, events', failed'⟩ := verifyFile_eq (t := t) a file
  refine ⟨?_, ?_, ?_⟩
  · rw [List.forall_mem_append, List.forall_mem_singleton]
    exact ⟨judged, passed⟩
  · rw [events', events, List.map_append]
    rfl
  · rw [failed', failed, fails_concat]

/-- A verification comes to its summary if it finds files. -/
theorem found_of_summary {tally : Tally} (h : .summary tally ∈ (verifyFiles s directory t).events) :
    t.isDirectory directory = true ∧ findGenerated t directory ≠ [] := by
  unfold verifyFiles at h
  by_cases isDirectory : t.isDirectory directory = true
  · refine ⟨isDirectory, fun none_ => ?_⟩
    rw [if_pos isDirectory, none_] at h
    cases List.mem_singleton.1 h
  · rw [if_neg isDirectory] at h
    cases h

/-- The summary and the result are about all files that were found. -/
theorem exists_checked_verifyFiles (isDirectory : t.isDirectory directory = true)
    (found : findGenerated t directory ≠ []) (s : Settings) : ∃ checked,
    Takes s.failFast (findGenerated t directory) checked ∧
      (∀ c ∈ checked, c.2 = true ↔ verify t c.1 = .ok ()) ∧
      (verifyFiles s directory t).events = checked.map (fun c => verifiedEvent t c.1) ++
        [.summary ⟨"file(s)", (findGenerated t directory).length - fails checked, fails checked⟩] ∧
      (verifyFiles s directory t).result =
        if fails checked > 0 then
          .error (.verification (fails checked) (findGenerated t directory).length)
        else .ok (findGenerated t directory).length := by
  obtain ⟨checked, takes, judged, events, failed⟩ :=
    exists_checked s.failFast t (findGenerated t directory)
  refine ⟨checked, takes, judged, ?_⟩
  unfold verifyFiles
  rw [if_pos isDirectory]
  generalize findGenerated t directory = files at *
  cases files with
  | nil => exact absurd rfl found
  | cons file files =>
    simp only [Account.close, Account.note, events, failed]
    exact ⟨trivial, trivial⟩

/-- Since the result is about all files, it is about those that were checked if they are all. -/
theorem Counts.length_eq {checked : List (Path × Bool)} {tally : Tally}
    (isDirectory : t.isDirectory directory = true) (found : findGenerated t directory ≠ [])
    (h : Counts checked tally (verifyFiles s directory t).result) :
    checked.length = (findGenerated t directory).length := by
  obtain ⟨checked', -, -, -, result⟩ := exists_checked_verifyFiles isDirectory found s
  rcases Nat.eq_zero_or_pos (fails checked) with none_ | some_
  · have told := (h.ok none_).symm.trans result
    split_ifs at told
    exact Except.ok.inj told
  · have told := (h.error some_).symm.trans result
    split_ifs at told
    exact (CommandError.verification.inj (Except.error.inj told)).2

/-- A verification tells each file that it checked, and how many of them did not verify. It counts
the files that it checked if it checked all of them: if it does not end early, or no file but the
last fails to verify. Otherwise files are counted that it never looked at. -/
theorem counts_verifyFiles_iff {tally : Tally}
    (h : .summary tally ∈ (verifyFiles s directory t).events) : ∃ checked,
    Takes s.failFast (findGenerated t directory) checked ∧
      (∀ c ∈ checked, c.2 = true ↔ verify t c.1 = .ok ()) ∧
      (verifyFiles s directory t).events =
        checked.map (fun c => verifiedEvent t c.1) ++ [.summary tally] ∧
      tally.failed = fails checked ∧
      (Counts checked tally (verifyFiles s directory t).result ↔ s.failFast = false ∨
        ∀ file ∈ (findGenerated t directory).dropLast, verify t file = .ok ()) := by
  obtain ⟨isDirectory, found⟩ := found_of_summary h
  obtain ⟨checked, takes, judged, events, result⟩ :=
    exists_checked_verifyFiles isDirectory found s
  obtain rfl : tally =
      ⟨"file(s)", (findGenerated t directory).length - fails checked, fails checked⟩ := by
    rw [events] at h
    rcases List.mem_append.1 h with hm | hm
    · obtain ⟨c, -, hc⟩ := List.mem_map.1 hm
      exact absurd hc (verifiedEvent_ne_summary c.1)
    · exact Event.summary.inj (List.mem_singleton.1 hm)
  refine ⟨checked, takes, judged, events, rfl, ?_⟩
  rw [← takes.length_eq_iff (P := fun file => verify t file = .ok ()) judged]
  refine ⟨Counts.length_eq isDirectory found, fun length => ?_⟩
  have sum := passes_add_fails checked
  rw [result, ← length]
  constructor
  case passed => exact (Nat.eq_sub_of_add_eq sum).symm
  case failed => rfl
  case error => exact fun some_ => if_pos some_
  case ok => exact fun none_ => if_neg (by omega)

end

/-! ## Two files without manifests -/

namespace Unnoted

def tree : FileTree where
  home := []
  entries := [
    (["out"], .directory),
    (["A.kt", "out"], .file "".toUTF8),
    (["B.kt", "out"], .file "".toUTF8)]
  distinct := by decide
  closed := by simp

def directory : Path := .ofString "out"

theorem findGenerated_tree :
    findGenerated tree directory = [.ofString "out/A.kt", .ofString "out/B.kt"] := by
  have sorted : findGenerated tree directory =
      [.ofString "out/A.kt", .ofString "out/B.kt"].mergeSort Path.le := rfl
  rw [sorted]
  exact List.mergeSort_of_pairwise (by decide)

theorem verify_tree : ∀ file ∈ findGenerated tree directory, verify tree file ≠ .ok () := by
  rw [findGenerated_tree]
  intro file hm
  have unread : tree.find? file.manifest = none := by
    rcases List.mem_cons.1 hm with rfl | hm
    · rfl
    · obtain rfl := List.mem_singleton.1 hm
      rfl
  obtain ⟨fault, he⟩ := verify_of_no_manifest (t := tree) (p := file) (by simp [unread])
  rw [he]
  nofun

theorem exists_summary (s : Settings) :
    ∃ tally, .summary tally ∈ (verifyFiles s directory tree).events := by
  have found : findGenerated tree directory ≠ [] := by simp [findGenerated_tree]
  obtain ⟨checked, -, -, events, -⟩ := exists_checked_verifyFiles rfl found s
  rw [events]
  exact ⟨_, List.mem_append_right _ (.head _)⟩

end Unnoted

section

open Unnoted

theorem counts_unnoted : ∃ tally checked,
    .summary tally ∈ (verifyFiles {} directory tree).events ∧
      checked.map Prod.fst = [.ofString "out/A.kt", .ofString "out/B.kt"] ∧
      Counts checked tally (verifyFiles {} directory tree).result := by
  obtain ⟨tally, h⟩ := exists_summary {}
  obtain ⟨checked, takes, -, -, -, counts⟩ := counts_verifyFiles_iff h
  rw [findGenerated_tree] at takes
  exact ⟨tally, checked, h, takes, counts.2 (.inl rfl)⟩

/-- A verification that ends at the first of two files counts the second one as verified. -/
theorem not_forall_counts : ¬ ∀ (s : Settings) (directory : Path) (t : FileTree) (tally : Tally),
    .summary tally ∈ (verifyFiles s directory t).events → ∃ checked,
      Takes s.failFast (findGenerated t directory) checked ∧
        (∀ c ∈ checked, c.2 = true ↔ verify t c.1 = .ok ()) ∧
        Counts checked tally (verifyFiles s directory t).result := by
  intro h
  let s : Settings := { failFast := true }
  obtain ⟨tally, told⟩ := exists_summary s
  obtain ⟨checked, takes, judged, counts⟩ := h s directory tree tally told
  have found : findGenerated tree directory ≠ [] := by simp [findGenerated_tree]
  rcases (takes.length_eq_iff (P := fun file => verify tree file = .ok ()) judged).1
      (counts.length_eq rfl found) with going | passed
  · cases going
  · rw [findGenerated_tree] at passed
    exact verify_tree (.ofString "out/A.kt") (by simp [findGenerated_tree]) (passed _ (.head _))

end

end PageAccessors
